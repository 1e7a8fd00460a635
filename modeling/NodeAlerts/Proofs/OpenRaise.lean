import NodeAlerts.Proofs.Families
import NodeAlerts.Proofs.Rules

/-!
# Open raises

An event that raises a problem is open until an event that resolves it (`Event.closes`) or until the
metric is forgotten.  A state remembers by flags what is open.  `MetricState.Backed` says that no
flag is set without an open raise behind it, in the way of the rule of the metric, and `Step.Sound`
that the resolutions of a step close open raises and that the flags are backed afterwards.  Every
rule makes sound steps (`Reading.sound_classify`).

Two rules are special.  The cleared event of a threshold closes one severity and leaves the other
open, so that both flags need a raise of their own; and a transition has one flag only, that of its
severity, so that what backs it depends on the configuration.
-/

namespace NodeAlerts

/-! ## Raises and resolutions -/

/-- What an event is about, as far as it matters to what resolves it. -/
inductive Problem where
  /-- The threshold of a severity. -/
  | threshold (severity : Severity)
  /-- The occurrences of a severity. -/
  | occurrences (severity : Severity)
  /-- Whatever else the metric is about. -/
  | other
  deriving Repr, DecidableEq

namespace Event

/-- What an event is about. -/
def problem : Event → Problem
  | .thresholdBreached severity .. => .threshold severity
  | .thresholdCleared severity .. => .threshold severity
  | .occurrencesBreached severity .. => .occurrences severity
  | .occurrencesCleared severity .. => .occurrences severity
  | _ => .other

/-- Whether an event resolves what another one raised: a cleared threshold closes the breaches of
its severity, and so do cleared occurrences; every other resolution closes whatever its metric
raised. -/
def closes (resolution raise : Event) : Bool :=
  resolution.isResolution && !raise.isResolution && decide (resolution.problem = raise.problem)

/-- The open raises after one more event. -/
def follow (raises : List Event) (e : Event) : List Event :=
  if e.isResolution then raises.filter (fun raise => !e.closes raise) else raises ++ [e]

/-- The open raises after more events. -/
def followAll (raises : List Event) (events : List Event) : List Event := events.foldl follow raises

@[simp] theorem followAll_nil (raises : List Event) : followAll raises [] = raises := rfl

@[simp] theorem followAll_cons (raises : List Event) (e : Event) (events : List Event) :
    followAll raises (e :: events) = followAll (follow raises e) events := rfl

theorem followAll_append (raises events others : List Event) :
    followAll raises (events ++ others) = followAll (followAll raises events) others :=
  List.foldl_append

end Event

/-- Whether a raise about a problem is open. -/
def IsOpen (raises : List Event) (p : Problem) : Prop :=
  ∃ raise ∈ raises, raise.isResolution = false ∧ raise.problem = p

namespace IsOpen

/-- A resolution of an open problem closes a raise. -/
theorem exists_closes {raises : List Event} {e : Event} (h : IsOpen raises e.problem)
    (he : e.isResolution = true) : ∃ raise ∈ raises, e.closes raise = true := by
  obtain ⟨raise, hmem, hraise, hproblem⟩ := h
  exact ⟨raise, hmem, by simp [Event.closes, he, hraise, hproblem]⟩

/-- What is raised is open. -/
theorem follow_self {e : Event} (he : e.isResolution = false) (raises : List Event) :
    IsOpen (e.follow raises) e.problem := by
  rw [Event.follow, he]
  exact ⟨e, by simp, he, rfl⟩

/-- A raise closes nothing. -/
theorem follow_raise {raises : List Event} {p : Problem} (h : IsOpen raises p) {e : Event}
    (he : e.isResolution = false) : IsOpen (e.follow raises) p := by
  obtain ⟨raise, hmem, hraise⟩ := h
  rw [Event.follow, he]
  exact ⟨raise, List.mem_append_left _ hmem, hraise⟩

/-- An event about another problem closes nothing. -/
theorem follow_ne {raises : List Event} {p : Problem} (h : IsOpen raises p) {e : Event}
    (he : e.problem ≠ p) : IsOpen (e.follow raises) p := by
  cases hres : e.isResolution with
  | false => exact h.follow_raise hres
  | true =>
      obtain ⟨raise, hmem, hraise, hproblem⟩ := h
      rw [Event.follow, hres, if_pos rfl]
      refine ⟨raise, List.mem_filter.2 ⟨hmem, ?_⟩, hraise, hproblem⟩
      simp [Event.closes, hproblem, he]

end IsOpen

/-! ## Sound steps -/

/-- Every resolution among the events closes a raise that is open by then. -/
def Justified (raises : List Event) : List Event → Prop
  | [] => True
  | e :: events =>
    (e.isResolution = true → ∃ raise ∈ raises, e.closes raise = true) ∧
      Justified (e.follow raises) events

theorem justified_append {raises events others : List Event} (h : Justified raises events)
    (h' : Justified (Event.followAll raises events) others) :
    Justified raises (events ++ others) := by
  induction events generalizing raises with
  | nil => exact h'
  | cons e events ih => exact ⟨h.1, ih h.2 h'⟩

/-- The resolutions of a step close open raises, and what is open afterwards backs the new state, in
the sense of `B`. -/
structure Step.Sound (step : Step) (raises : List Event)
    (B : MetricState → List Event → Prop) : Prop where
  /-- The resolutions close open raises. -/
  justified : Justified raises step.events
  /-- The new state is backed. -/
  backed : B step.state (Event.followAll raises step.events)

namespace Step

variable {B : MetricState → List Event → Prop} {raises : List Event} {s : MetricState}

theorem sound_quiet (h : B s raises) : (quiet s).Sound raises B := ⟨trivial, h⟩

/-- A step with one event that raises a problem. -/
theorem sound_raise {e : Event} (he : e.isResolution = false) (h : B s (e.follow raises)) :
    (⟨s, [e]⟩ : Step).Sound raises B := by
  refine ⟨⟨fun h => ?_, trivial⟩, h⟩
  rw [he] at h
  cases h

/-- A step with one event that resolves an open problem. -/
theorem sound_resolve {e : Event} (he : e.isResolution = true) (hopen : IsOpen raises e.problem)
    (h : B s (e.follow raises)) : (⟨s, [e]⟩ : Step).Sound raises B :=
  ⟨⟨fun _ => hopen.exists_closes he, trivial⟩, h⟩

theorem Sound.andThen {a : Step} {f : MetricState → Step} (ha : a.Sound raises B)
    (hf : ∀ s raises, B s raises → (f s).Sound raises B) : (a.andThen f).Sound raises B := by
  have hb := hf a.state (Event.followAll raises a.events) ha.backed
  refine ⟨justified_append ha.justified hb.justified, ?_⟩
  rw [events_andThen, Event.followAll_append]
  exact hb.backed

end Step

/-! ## Levels -/

/-- The flags of both levels are backed by open raises about the problems of these levels. -/
structure LevelsBacked (about : Severity → Problem) (s : MetricState) (raises : List Event) :
    Prop where
  /-- The flag of the warning. -/
  warning : s.warning.sent = true → IsOpen raises (about .warning)
  /-- The flag of the critical alert. -/
  critical : s.critical.sent = true → IsOpen raises (about .critical)

variable {about : Severity → Problem} {s : MetricState} {raises : List Event}

theorem levelsBacked_of_clear (hw : s.warning.sent = false) (hc : s.critical.sent = false) :
    LevelsBacked about s raises := by
  refine ⟨fun h => ?_, fun h => ?_⟩
  · rw [hw] at h
    cases h
  · rw [hc] at h
    cases h

theorem sound_raiseCritical {c : MetricConfig} {start : Option Instant} {now : Instant}
    {first again : Span → Event}
    (hfirst : ∀ age, (first age).isResolution = false ∧ (first age).problem = about .critical)
    (hagain : ∀ age, (again age).isResolution = false ∧ (again age).problem = about .critical)
    (h : LevelsBacked about s raises) :
    (raiseCritical c start now first again s).Sound raises (LevelsBacked about) := by
  rcases raiseCritical_cases c start now s first again with
    ⟨hsent, -, -, hstep⟩ | ⟨-, -, hstep⟩ | ⟨-, hstep⟩
  · rw [hstep]
    refine Step.sound_raise (hagain _).1 ⟨fun hw => ?_, fun _ => ?_⟩
    · exact (h.warning hw).follow_raise (hagain _).1
    · exact (h.critical hsent).follow_raise (hagain _).1
  · rw [hstep]
    refine Step.sound_raise (hfirst _).1 ⟨fun hw => ?_, fun _ => ?_⟩
    · exact (h.warning hw).follow_raise (hfirst _).1
    · rw [← (hfirst _).2]
      exact IsOpen.follow_self (hfirst _).1 raises
  · rw [hstep]
    refine Step.sound_quiet ⟨h.warning, fun hc => ?_⟩
    rw [Alarm.sent_observe] at hc
    exact h.critical hc

theorem sound_raiseWarning {start : Option Instant} {now : Instant} {event : Span → Event}
    (hevent : ∀ age, (event age).isResolution = false ∧ (event age).problem = about .warning)
    (h : LevelsBacked about s raises) :
    (raiseWarning start now event s).Sound raises (LevelsBacked about) := by
  rcases raiseWarning_cases start now s event with ⟨-, -, -, hstep⟩ | ⟨-, hstep⟩
  · rw [hstep]
    refine Step.sound_raise (hevent _).1 ⟨fun _ => ?_, fun hc => ?_⟩
    · rw [← (hevent _).2]
      exact IsOpen.follow_self (hevent _).1 raises
    · exact (h.critical hc).follow_raise (hevent _).1
  · rw [hstep]
    refine Step.sound_quiet ⟨fun hw => ?_, h.critical⟩
    rw [Alarm.sent_observe] at hw
    exact h.warning hw

/-! ## Thresholds -/

namespace Measure

/-- What the events of a measure are about. -/
def problem : Measure → Severity → Problem
  | .value .. => .threshold
  | .occurrences .. => .occurrences

variable {c : MetricConfig} {d : Direction} {now : Instant}

theorem breached_spec (m : Measure) (severity : Severity) (age : Span) :
    (m.breached c d severity age).isResolution = false ∧
      (m.breached c d severity age).problem = m.problem severity := by
  cases m <;> exact ⟨rfl, rfl⟩

theorem cleared_spec (m : Measure) (severity : Severity) :
    (m.cleared c d severity).isResolution = true ∧
      (m.cleared c d severity).problem = m.problem severity := by
  cases m <;> exact ⟨rfl, rfl⟩

/-- The severities of a measure are different problems. -/
theorem problem_ne (m : Measure) : m.problem .critical ≠ m.problem .warning := by
  cases m <;> simp [problem]

theorem sound_clearCritical (m : Measure) (h : LevelsBacked m.problem s raises) :
    (m.clearCritical c d now s).Sound raises (LevelsBacked m.problem) := by
  obtain ⟨hres, hproblem⟩ := m.cleared_spec (c := c) (d := d) .critical
  rcases m.clearCritical_cases c d now s with ⟨hsent, -, warning, hwarning, hstep⟩ | ⟨-, hstep⟩
  · rw [hstep]
    refine Step.sound_resolve hres (hproblem ▸ h.critical hsent) ⟨fun hw => ?_, fun hc => ?_⟩
    · -- a warning that counts as not sent needs no raise, and one that is kept keeps its own
      rcases hwarning with rfl | rfl
      · exact (h.warning hw).follow_ne (hproblem ▸ m.problem_ne)
      · rw [Alarm.sent_observe] at hw
        cases hw
    · cases hc
  · rw [hstep]
    exact Step.sound_quiet h

theorem sound_clearWarning (m : Measure) (h : LevelsBacked m.problem s raises) :
    (m.clearWarning c d s).Sound raises (LevelsBacked m.problem) := by
  obtain ⟨hres, hproblem⟩ := m.cleared_spec (c := c) (d := d) .warning
  rcases m.clearWarning_cases c d s with ⟨hsent, -, hstep⟩ | ⟨-, hstep⟩
  · rw [hstep]
    refine Step.sound_resolve hres (hproblem ▸ h.warning hsent) ⟨fun hw => ?_, fun hc => ?_⟩
    · cases hw
    · exact (h.critical hc).follow_ne (hproblem ▸ m.problem_ne.symm)
  · rw [hstep]
    exact Step.sound_quiet h

theorem sound_checkCritical (m : Measure) (h : LevelsBacked m.problem s raises) :
    (m.checkCritical c d now s).Sound raises (LevelsBacked m.problem) := by
  rcases m.checkCritical_cases c d now s with ⟨-, hstep⟩ | hstep
  · rw [hstep]
    exact sound_raiseCritical (m.breached_spec .critical) (m.breached_spec .critical) h
  · rw [hstep]
    exact Step.sound_quiet ⟨h.warning, h.critical⟩

theorem sound_checkWarning (m : Measure) (h : LevelsBacked m.problem s raises) :
    (m.checkWarning c d now s).Sound raises (LevelsBacked m.problem) := by
  rcases m.checkWarning_cases c d now s with ⟨-, hstep⟩ | hstep
  · rw [hstep]
    exact sound_raiseWarning (m.breached_spec .warning) h
  · rw [hstep]
    exact Step.sound_quiet ⟨h.warning, h.critical⟩

/-- Comparing a measure with the thresholds is sound. -/
theorem sound_classify (m : Measure) (h : LevelsBacked m.problem s raises) :
    (m.classify c d now s).Sound raises (LevelsBacked m.problem) := by
  refine (m.sound_clearCritical h).andThen fun s raises h => ?_
  refine (m.sound_clearWarning h).andThen fun s raises h => ?_
  exact (m.sound_checkCritical h).andThen fun s raises h => m.sound_checkWarning h

end Measure

/-- Counting touches no flag. -/
theorem levelsBacked_countOccurrences {s' : MetricState} {now : Instant} {n : Nat}
    (h : LevelsBacked about s raises) (hs : countOccurrences s now n = .ok s') :
    LevelsBacked about s' raises := by
  obtain ⟨warning, critical, -, -, rfl⟩ := countOccurrences_eq_ok hs
  exact ⟨h.warning, h.critical⟩

/-! ## Problems without levels of their own -/

/-- What the events of values that do not change and of downtime are about. -/
def shared (_ : Severity) : Problem := .other

/-- The problem ends: what is open is resolved. -/
theorem sound_clear {e : Event} (he : e.isResolution = true) (hp : e.problem = .other)
    (h : LevelsBacked shared s raises) :
    (⟨s.clear, if s.isClear then [] else [e]⟩ : Step).Sound raises (LevelsBacked shared) := by
  cases hclear : s.isClear with
  | true => exact Step.sound_quiet (levelsBacked_of_clear rfl rfl)
  | false =>
      have hopen : IsOpen raises e.problem := by
        rw [hp]
        simp only [MetricState.isClear, Bool.and_eq_false_iff, Bool.not_eq_false'] at hclear
        rcases hclear with hw | hc
        · exact h.warning hw
        · exact h.critical hc
      exact Step.sound_resolve he hopen (levelsBacked_of_clear rfl rfl)

theorem sound_raiseBoth {c : MetricConfig} {start now : Instant}
    {first again event : Span → Event}
    (hfirst : ∀ age, (first age).isResolution = false ∧ (first age).problem = .other)
    (hagain : ∀ age, (again age).isResolution = false ∧ (again age).problem = .other)
    (hevent : ∀ age, (event age).isResolution = false ∧ (event age).problem = .other)
    (h : LevelsBacked shared s raises) :
    (raiseBoth c start now first again event s).Sound raises (LevelsBacked shared) := by
  rw [raiseBoth]
  refine Step.Sound.andThen ?_ fun s raises h => ?_
  · split
    · exact sound_raiseCritical hfirst hagain h
    · exact Step.sound_quiet h
  · split
    · exact sound_raiseWarning hevent h
    · exact Step.sound_quiet h

theorem sound_classifyStuck {c : MetricConfig} {now : Instant} {current : Float}
    {previous : Option Float} (h : LevelsBacked shared s raises) :
    (classifyStuck c now current previous s).Sound raises (LevelsBacked shared) := by
  rcases classifyStuck_cases c now current previous s with ⟨-, hstep⟩ | hstep | hstep
  · rw [hstep]
    exact Step.sound_quiet h
  · rw [hstep]
    exact sound_clear rfl rfl h
  · rw [hstep]
    exact sound_raiseBoth (fun _ => ⟨rfl, rfl⟩) (fun _ => ⟨rfl, rfl⟩) (fun _ => ⟨rfl, rfl⟩) h

theorem sound_classifyDowntime {c : MetricConfig} {now : Instant} {wentDownAt : Option Instant}
    (h : LevelsBacked shared s raises) :
    (classifyDowntime c now wentDownAt s).Sound raises (LevelsBacked shared) := by
  rcases classifyDowntime_cases c now wentDownAt s with ⟨-, hstep⟩ | ⟨start, -, hstep⟩
  · rw [hstep]
    exact sound_clear rfl rfl h
  · rw [hstep]
    exact sound_raiseBoth (fun _ => ⟨rfl, rfl⟩) (fun _ => ⟨rfl, rfl⟩) (fun _ => ⟨rfl, rfl⟩) h

/-! ## Errors and conditions -/

theorem sound_classifyFault {tracked : Int} {received : Option Int} {message : String}
    (h : s.errorSent = true → IsOpen raises .other) :
    (classifyFault tracked received message s).Sound raises
      fun s raises => s.errorSent = true → IsOpen raises .other := by
  rw [classifyFault]
  split
  · exact Step.sound_raise rfl fun _ => IsOpen.follow_self (e := .errorRaised tracked message) rfl _
  · split
    · rename_i hsent
      exact Step.sound_resolve rfl (h hsent) fun hfalse => by cases hfalse
    · exact Step.sound_quiet h

theorem sound_classifyTransition {c : MetricConfig} {holds : Bool} {detail cleared : String}
    (h : s.isSent c.conditionSeverity = true → IsOpen raises .other) :
    (classifyTransition c holds detail cleared s).Sound raises
      fun s raises => s.isSent c.conditionSeverity = true → IsOpen raises .other := by
  simp only [classifyTransition]
  split
  · exact Step.sound_raise rfl fun _ =>
      IsOpen.follow_self (e := .conditionMet c.conditionSeverity detail) rfl _
  · split
    · rename_i hcond
      have hsent : s.isSent c.conditionSeverity = true := (Bool.and_eq_true_iff.1 hcond).2
      refine Step.sound_resolve rfl (h hsent) fun hfalse => ?_
      rw [MetricState.isSent_setSent] at hfalse
      cases hfalse
    · exact Step.sound_quiet h

/-! ## Readings -/

/-- No flag of a metric is set without an open raise behind it.  Which flags count, and what has to
be open, is a matter of the rule of the metric. -/
def MetricState.Backed (s : MetricState) (rule : Rule) (c : MetricConfig) (raises : List Event) :
    Prop :=
  match rule with
  | .gauge => LevelsBacked .threshold s raises
  | .counter => LevelsBacked .occurrences s raises
  | .progress => LevelsBacked shared s raises
  | .downtime => LevelsBacked shared s raises
  | .fault => s.errorSent = true → IsOpen raises .other
  | .condition _ => True
  | .transition => s.isSent c.conditionSeverity = true → IsOpen raises .other

/-- Nothing is open at the start, and no flag is set. -/
theorem MetricState.backed_new (c : MetricConfig) (rule : Rule) (raises : List Event) :
    (new c).Backed rule c raises := by
  have hlevels : ∀ about, LevelsBacked about (new c) raises := fun about =>
    levelsBacked_of_clear rfl rfl
  cases rule with
  | gauge => exact hlevels _
  | counter => exact hlevels _
  | progress => exact hlevels _
  | downtime => exact hlevels _
  | fault => intro h; cases h
  | condition resolves => trivial
  | transition =>
      intro h
      cases hs : c.conditionSeverity <;> rw [hs] at h <;> cases h

/-- **Every rule makes sound steps.** -/
theorem Reading.sound_classify {r : Reading} {c : MetricConfig} {now : Instant} {step : Step}
    (hr : r.rule ≠ .condition true) (hs : s.Backed r.rule c raises)
    (h : r.classify c now s = .ok step) :
    step.Sound raises fun s raises => s.Backed r.rule c raises := by
  cases r with
  | gauge value direction windowed =>
      cases h
      exact (Measure.value value windowed).sound_classify hs
  | counter current previous =>
      obtain ⟨s₁, hs₁, h⟩ := exists_of_bind_eq_ok (x := countOccurrences ..) h
      cases h
      exact Measure.sound_classify _ (levelsBacked_countOccurrences hs hs₁)
  | progress current previous =>
      cases h
      exact sound_classifyStuck hs
  | downtime wentDownAt =>
      cases h
      exact sound_classifyDowntime hs
  | fault tracked received message =>
      cases h
      exact sound_classifyFault hs
  | condition holds detail cleared =>
      cases h
      cases cleared with
      | some text => exact absurd rfl hr
      | none =>
          simp only [classifyCondition]
          split
          · exact Step.sound_raise rfl trivial
          · exact Step.sound_quiet trivial
  | transition holds detail cleared =>
      cases h
      exact sound_classifyTransition hs

end NodeAlerts
