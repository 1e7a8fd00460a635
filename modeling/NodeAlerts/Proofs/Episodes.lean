import NodeAlerts.Proofs.Persistence

/-!
# Episodes of a problem

A node that is down and a value that does not change are problems that are raised once they have
lasted for a window.  A reading tells that such a problem is seen, that it is over, or nothing at
all (`Reading.notice?`); an `episode` is a longest block of beats at which it is seen, where beats
that tell nothing do not count.  An episode goes on since the start that its first beat reports.

* `episodes_of_downtime`, `episodes_of_stillness`: at each beat of an episode a critical alert or a
  warning is sent exactly when its window has passed for the first time, only one of the two, and
  with the true age of the episode; and the first beat behind an episode resolves what it raised,
  once, and leaves the metric as it was at the start.

The times of the beats are free, and so are the starts that later beats of an episode report.  What
carries the proof is `MetricState.Minds`: how far the episode has come can be read off the state.
-/

namespace NodeAlerts

/-! ## Raising at both levels -/

theorem Alarm.clear_see (a : Alarm) (start : Option Instant) (now : Instant) (silenced : Bool) :
    (a.see start now silenced).clear = a.clear := by
  have hobserve : (a.observe start).clear = a.clear := by
    cases start with
    | none => rfl
    | some t =>
        obtain ⟨sent, ⟨window, phase⟩, occurrences⟩ := a
        cases phase <;> rfl
  rw [← hobserve, see]
  split
  · generalize a.observe start = a'
    obtain ⟨sent, ⟨window, phase⟩, occurrences⟩ := a'
    cases phase <;> rfl
  · rfl

section Both

variable (c : MetricConfig) (start now : Instant) (first again warning : Span → Event)
  (s : MetricState)

/-- Whether a critical alert is sent where a problem is seen at both levels. -/
def MetricState.alertsCritical (s : MetricState) (c : MetricConfig) (start now : Instant) : Bool :=
  c.critical.enabled && s.sendsCritical c (some start) now

theorem critical_raiseBoth : (raiseBoth c start now first again warning s).state.critical =
    if c.critical.enabled then s.critical.see (some start) now false else s.critical := by
  cases hc : c.critical.enabled <;> cases hw : c.warning.enabled <;>
    simp [raiseBoth, hc, hw, raiseCritical_eq, raiseWarning_eq]

theorem repeatGate_raiseBoth : (raiseBoth c start now first again warning s).state.repeatGate =
    if s.alertsCritical c start now then s.repeatGate.pass now else s.repeatGate := by
  cases hc : c.critical.enabled <;> cases hw : c.warning.enabled <;>
    simp [raiseBoth, hc, hw, raiseCritical_eq, raiseWarning_eq, MetricState.alertsCritical]

theorem warning_raiseBoth : (raiseBoth c start now first again warning s).state.warning =
    if c.warning.enabled
    then s.warning.see (some start) now
      (raiseBoth c start now first again warning s).state.critical.sent
    else s.warning := by
  rw [critical_raiseBoth]
  cases hc : c.critical.enabled <;> cases hw : c.warning.enabled <;>
    simp [raiseBoth, hc, hw, raiseCritical_eq, raiseWarning_eq]

/-- The timers of enabled levels run. -/
theorem startedAt?_raiseBoth (severity : Severity) :
    ((raiseBoth c start now first again warning s).state.alarm severity).window.startedAt? =
      if (c.level severity).enabled
      then ((s.alarm severity).observe (some start)).window.startedAt?
      else (s.alarm severity).window.startedAt? := by
  cases severity with
  | critical =>
      show (raiseBoth ..).state.critical.window.startedAt? = if c.critical.enabled then _ else _
      rw [critical_raiseBoth]
      split
      · exact Alarm.startedAt?_see ..
      · rfl
  | _ =>
      show (raiseBoth ..).state.warning.window.startedAt? = if c.warning.enabled then _ else _
      rw [warning_raiseBoth]
      split
      · exact Alarm.startedAt?_see ..
      · rfl

/-- **Which events are found**: a critical alert, and a warning if it is due and none is open. -/
theorem events_raiseBoth : (raiseBoth c start now first again warning s).events =
    (if s.alertsCritical c start now
      then [(if s.critical.sent then again else first)
        ((raiseBoth c start now first again warning s).state.critical.window.elapsed now)]
      else []) ++
    (if c.warning.enabled && (s.warning.raises (some start) now &&
        !(raiseBoth c start now first again warning s).state.critical.sent)
      then [warning
        ((raiseBoth c start now first again warning s).state.warning.window.elapsed now)]
      else []) := by
  rw [warning_raiseBoth, critical_raiseBoth, MetricState.alertsCritical]
  cases hc : c.critical.enabled <;> cases hw : c.warning.enabled <;>
    simp only [raiseBoth, hc, hw, raiseCritical_eq, raiseWarning_eq] <;> rfl

/-- Raising leaves no trace that clearing does not remove. -/
theorem clear_raiseBoth :
    (raiseBoth c start now first again warning s).state.clear = s.clear := by
  have hgate : (if s.sendsCritical c (some start) now then s.repeatGate.pass now
      else s.repeatGate).reset = s.repeatGate.reset := by
    split <;> rfl
  cases hc : c.critical.enabled <;> cases hw : c.warning.enabled <;>
    simp [raiseBoth, hc, hw, raiseCritical_eq, raiseWarning_eq, MetricState.clear,
      Alarm.clear_see, hgate]

end Both

/-! ## What a reading tells -/

/-- What a reading tells of a problem that has to last. -/
inductive Notice where
  /-- There is no problem, and here is the event that resolves one that was raised. -/
  | gone (resolution : Event)
  /-- There is a problem, by this reading since `start`.  By its age, its first critical alert, the
  ones that repeat it, and its warning. -/
  | seen (start : Instant) (first again warning : Span → Event)

/-- What a reading at `now` tells of a node that is down, or of a value that does not change.  A
value without the one before it tells nothing. -/
def Reading.notice? (r : Reading) (now : Instant) : Option Notice :=
  match r with
  | .downtime none => some (.gone .backUp)
  | .downtime (some start) =>
    some (.seen start (.wentDown .critical) (.stillDown .critical) (.wentDown .warning))
  | .progress _ none => none
  | .progress current (some previous) =>
    if current == previous then
      some (.seen now (.noChange .critical current) (.noChange .critical current)
        (.noChange .warning current))
    else some (.gone (.valueUpdated current))
  | _ => none

/-- The readings of problems that have to last. -/
def Reading.Lasting : Reading → Prop
  | .downtime _ => True
  | .progress _ _ => True
  | _ => False

/-- The start of a problem by what a reading tells. -/
def Notice.start? : Notice → Option Instant
  | .gone _ => none
  | .seen start _ _ _ => some start

/-- **What comes of a reading**: nothing, the end of the problem, or an alert about it. -/
theorem Reading.Lasting.classify_cases {r : Reading} (hr : r.Lasting) {c : MetricConfig}
    {now : Instant} {s : MetricState} {step : Step} (h : r.classify c now s = .ok step) :
    (r.notice? now = none ∧ step = .quiet s) ∨
    (∃ resolution, r.notice? now = some (.gone resolution) ∧ resolution.isResolution = true ∧
      step = ⟨s.clear, if s.isClear then [] else [resolution]⟩) ∨
    ∃ start first again warning, r.notice? now = some (.seen start first again warning) ∧
      (∀ age, (first age).severity = .critical) ∧ (∀ age, (again age).severity = .critical) ∧
      (∀ age, (warning age).severity = .warning) ∧
      step = raiseBoth c start now first again warning s := by
  cases r with
  | downtime wentDownAt =>
      cases h
      cases wentDownAt with
      | none => exact Or.inr (Or.inl ⟨_, rfl, rfl, rfl⟩)
      | some start =>
          exact Or.inr (Or.inr ⟨start, _, _, _, rfl, fun _ => rfl, fun _ => rfl, fun _ => rfl, rfl⟩)
  | progress current previous =>
      cases h
      cases previous with
      | none => exact Or.inl ⟨rfl, rfl⟩
      | some previous =>
          refine Or.inr ?_
          rw [notice?, classifyStuck]
          cases hsame : current == previous with
          | false =>
              simp only [bne, hsame, Bool.not_false, if_true]
              exact Or.inl ⟨_, rfl, rfl, rfl⟩
          | true =>
              simp only [bne, hsame, Bool.not_true, Bool.false_eq_true, if_false]
              exact Or.inr ⟨now, _, _, _, rfl, fun _ => rfl, fun _ => rfl, fun _ => rfl, rfl⟩
  | _ => cases hr

/-! ## Episodes -/

namespace Beat

/-- What the reading tells. -/
def notice? (b : Beat) : Option Notice := b.sighting.reading.notice? b.time

/-- Since when there is a problem, by the reading of the beat alone. -/
def start? (b : Beat) : Option Instant := b.notice?.bind Notice.start?

/-- Whether a problem that goes on since `start` has lasted for the window of a severity. -/
def lasts (b : Beat) (c : MetricConfig) (severity : Severity) (start : Instant) : Bool :=
  decide ((c.level severity).window ≤ b.time.since start)

end Beat

/-- The episode in which beats end: the longest block of them, up to the last one, at which the
problem was seen, those aside that tell nothing. -/
def episode (past : List Beat) : List Beat :=
  (past.filter fun b => b.notice?.isSome).rtakeWhile fun b => b.start?.isSome

/-- Since when an episode goes on: its first beat tells. -/
def anchor? (block : List Beat) : Option Instant := (block.filterMap Beat.start?).head?

section Episode

variable {past block : List Beat} {b : Beat}

theorem episode_concat_of_none (h : b.notice? = none) : episode (past ++ [b]) = episode past := by
  simp [episode, h]

theorem episode_concat_of_gone {resolution : Event} (h : b.notice? = some (.gone resolution)) :
    episode (past ++ [b]) = [] := by
  simp [episode, Beat.start?, Notice.start?, h]

theorem episode_concat_of_start {start : Instant} (h : b.start? = some start) :
    episode (past ++ [b]) = episode past ++ [b] := by
  have hnotice : b.notice?.isSome = true := by
    cases hb : b.notice? with
    | none => simp [Beat.start?, hb] at h
    | some notice => rfl
  simp [episode, hnotice, h]

theorem anchor?_concat {start : Instant} (h : b.start? = some start) :
    anchor? (block ++ [b]) = some ((anchor? block).getD start) := by
  rw [anchor?, anchor?, List.filterMap_append]
  cases block.filterMap Beat.start? <;> simp [h]

end Episode

/-- The beat is the first of a block, and the only one up to then, of which `P` holds. -/
def FirstOf (P : Beat → Prop) (block : List Beat) (b : Beat) : Prop :=
  P b ∧ ∀ b' ∈ block, ¬ P b'

/-- **What is sent at a beat** of an episode that goes on since `start`, after the `block` of its
earlier beats. -/
structure Beat.Raises (b : Beat) (c : MetricConfig) (start : Instant) (block : List Beat)
    (first again warning : Span → Event) : Prop where
  /-- The first critical alert is sent at the first beat by which the episode has lasted for the
  window. -/
  critical_first : FirstOf (·.Alerts .critical) block b ↔
    c.critical.enabled = true ∧ FirstOf (·.lasts c .critical start = true) block b
  /-- It tells how long the episode has lasted. -/
  critical_event : FirstOf (·.Alerts .critical) block b →
    b.step.events = [first (b.time.since start)]
  /-- So does a critical alert that follows it. -/
  critical_again : b.Alerts .critical → (∃ b' ∈ block, b'.Alerts .critical) →
    b.step.events = [again (b.time.since start)]
  /-- A warning is sent at the first beat by which the episode has lasted for its window, if there
  was no critical alert up to then. -/
  warning_iff : b.Alerts .warning ↔
    c.warning.enabled = true ∧ FirstOf (·.lasts c .warning start = true) block b ∧
      ∀ b' ∈ block ++ [b], ¬ b'.Alerts .critical
  /-- It tells how long the episode has lasted. -/
  warning_event : b.Alerts .warning → b.step.events = [warning (b.time.since start)]
  /-- Nothing else is sent. -/
  nothing_else : b.step.events ≠ [] → b.Alerts .critical ∨ b.Alerts .warning

/-- **What comes of a beat** after the `past` beats of a course. -/
structure Beat.Follows (b : Beat) (c : MetricConfig) (past : List Beat) : Prop where
  /-- A reading that tells nothing changes nothing. -/
  quiet : b.notice? = none → b.step = .quiet b.before
  /-- A reading by which the problem is over resolves what the episode raised, if it raised
  anything, and nothing of the episode is remembered. -/
  gone : ∀ resolution, b.notice? = some (.gone resolution) →
    b.step.state = .new c ∧
      b.step.events =
        if (episode past).all (·.step.events.isEmpty) then [] else [resolution]
  /-- A reading that sees the problem belongs to an episode. -/
  seen : ∀ start first again warning, b.notice? = some (.seen start first again warning) →
    ∃ anchor, anchor? (episode (past ++ [b])) = some anchor ∧
      b.Raises c anchor (episode past) first again warning

/-! ## What is remembered of an episode -/

/-- How far an episode has come that goes on since `start`, with the beats of `block` so far. -/
structure MetricState.Minds (s : MetricState) (c : MetricConfig) (start : Instant)
    (block : List Beat) : Prop where
  /-- Beside the alarms nothing is remembered. -/
  cleared : s.clear = .new c
  /-- The timers of enabled levels run since the start. -/
  timer : ∀ severity, (s.alarm severity).window.startedAt? =
    if (c.level severity).enabled then anchor? block else none
  /-- A critical alert is open if the episode lasted for the window at one of its beats. -/
  critical : s.critical.sent =
    (c.critical.enabled && block.any fun b => b.lasts c .critical start)
  /-- A warning that is open was due. -/
  warning : s.warning.sent = true →
    c.warning.enabled = true ∧ ∃ b ∈ block, b.lasts c .warning start = true
  /-- A warning that was due is open, or silenced by a critical alert. -/
  silenced : c.warning.enabled = true → ∀ b ∈ block, b.lasts c .warning start = true →
    s.warning.sent = true ∨ s.critical.sent = true
  /-- The open alerts are those that the episode sent. -/
  alerts : ∀ severity, severity = .warning ∨ severity = .critical →
    (s.isSent severity = true ↔ ∃ b ∈ block, b.Alerts severity)
  /-- The episode sent nothing else. -/
  nothing_else : ∀ b ∈ block, b.step.events ≠ [] → b.Alerts .critical ∨ b.Alerts .warning

namespace MetricState.Minds

variable {s : MetricState} {c : MetricConfig} {start : Instant} {block : List Beat}

/-- Before an episode nothing is remembered. -/
theorem new (c : MetricConfig) (start : Instant) : (MetricState.new c).Minds c start [] where
  cleared := rfl
  timer severity := by
    rw [show anchor? [] = none from rfl, ite_self]
    cases severity <;> rfl
  critical := (Bool.and_false _).symm
  warning hsent := nomatch hsent
  silenced _ b hb := nomatch hb
  alerts severity hseverity := by
    rcases hseverity with rfl | rfl <;> simp [isSent, MetricState.new, Alarm.new]
  nothing_else b hb := nomatch hb

/-- The timers are set to the windows of the configuration. -/
theorem window (h : s.Minds c start block) (severity : Severity) :
    (s.alarm severity).window.window = (c.level severity).window := by
  have hcleared := h.cleared
  cases severity with
  | critical => exact congrArg (fun s => s.critical.window.window) hcleared
  | _ => exact congrArg (fun s => s.warning.window.window) hcleared

/-- An alarm that sees the problem again knows since when it goes on. -/
theorem startedAt?_observe (h : s.Minds c start block) {t : Instant}
    (ht : (anchor? block).getD t = start) (severity : Severity)
    (henabled : (c.level severity).enabled = true) :
    ((s.alarm severity).observe (some t)).window.startedAt? = some start := by
  show ((s.alarm severity).window.start t).startedAt? = _
  rw [WindowTimer.startedAt?_start, h.timer, if_pos henabled, ht]

/-- A critical alert is open unless the episode sent none. -/
theorem closed_iff (h : s.Minds c start block) :
    s.critical.sent = false ↔ ∀ b ∈ block, ¬ b.Alerts .critical := by
  rw [← Bool.not_eq_true, show s.critical.sent = true ↔ _ from h.alerts .critical (Or.inr rfl)]
  simp only [not_exists, not_and]

/-- A critical alert of an enabled level is open unless the episode has not lasted for the
window. -/
theorem closed_iff_lasts (h : s.Minds c start block) (henabled : c.critical.enabled = true) :
    s.critical.sent = false ↔ ∀ b ∈ block, ¬ b.lasts c .critical start = true := by
  rw [h.critical, henabled, Bool.true_and, List.any_eq_false]

/-- No alert is open if the episode sent none. -/
theorem isClear_eq (h : s.Minds c start block) :
    s.isClear = block.all (·.step.events.isEmpty) := by
  rw [Bool.eq_iff_iff, List.all_eq_true, isClear, Bool.and_eq_true, Bool.not_eq_true',
    Bool.not_eq_true']
  constructor
  · rintro ⟨hwarning, hcritical⟩ b hb
    rw [List.isEmpty_iff]
    by_contra hsent
    rcases h.nothing_else b hb hsent with halerts | halerts
    · have hopen : s.critical.sent = true := (h.alerts .critical (Or.inr rfl)).2 ⟨b, hb, halerts⟩
      simp [hcritical] at hopen
    · have hopen : s.warning.sent = true := (h.alerts .warning (Or.inl rfl)).2 ⟨b, hb, halerts⟩
      simp [hwarning] at hopen
  · intro hempty
    have hnone : ∀ severity, severity = .warning ∨ severity = .critical →
        s.isSent severity = false := by
      intro severity hseverity
      rw [← Bool.not_eq_true, h.alerts severity hseverity]
      rintro ⟨b, hb, e, he, -⟩
      rw [List.isEmpty_iff.1 (hempty b hb)] at he
      cases he
    exact ⟨hnone .warning (Or.inl rfl), hnone .critical (Or.inr rfl)⟩

end MetricState.Minds

/-! ## One more beat of an episode -/

/-- A beat that sees the problem of an episode. -/
structure Beat.Continues (b : Beat) (c : MetricConfig) (start : Instant) (block : List Beat)
    (t : Instant) (first again warning : Span → Event) : Prop where
  /-- The state says how far the episode has come. -/
  minds : b.before.Minds c start block
  /-- The reading sees the problem. -/
  notice : b.notice? = some (.seen t first again warning)
  /-- The start that it tells counts only in a new episode. -/
  anchor : (anchor? block).getD t = start
  /-- What comes of it. -/
  step : b.step = raiseBoth c t b.time first again warning b.before
  severity_first : ∀ age, (first age).severity = .critical
  severity_again : ∀ age, (again age).severity = .critical
  severity_warning : ∀ age, (warning age).severity = .warning

namespace Beat.Continues

variable {b : Beat} {c : MetricConfig} {start t : Instant} {block : List Beat}
  {first again warning : Span → Event}

theorem start?_eq (h : b.Continues c start block t first again warning) : b.start? = some t := by
  rw [Beat.start?, h.notice]
  rfl

/-- A first alert is due by the time the episode has lasted for the window. -/
theorem raises_eq (h : b.Continues c start block t first again warning) (severity : Severity)
    (henabled : (c.level severity).enabled = true) :
    (b.before.alarm severity).raises (some t) b.time =
      (!(b.before.alarm severity).sent && b.lasts c severity start) := by
  have hwindow : ((b.before.alarm severity).observe (some t)).window.window =
      (c.level severity).window := by
    show ((b.before.alarm severity).window.start t).window = _
    rw [WindowTimer.window_start, h.minds.window]
  rw [Alarm.raises, WindowTimer.isDue, h.minds.startedAt?_observe h.anchor severity henabled,
    hwindow]
  rfl

theorem raises_critical (h : b.Continues c start block t first again warning)
    (henabled : c.critical.enabled = true) :
    b.before.critical.raises (some t) b.time =
      (!b.before.critical.sent && b.lasts c .critical start) :=
  h.raises_eq .critical henabled

theorem raises_warning (h : b.Continues c start block t first again warning)
    (henabled : c.warning.enabled = true) :
    b.before.warning.raises (some t) b.time =
      (!b.before.warning.sent && b.lasts c .warning start) :=
  h.raises_eq .warning henabled

/-- The timers run since the start of the episode. -/
theorem startedAt?_eq (h : b.Continues c start block t first again warning) (severity : Severity) :
    (b.step.state.alarm severity).window.startedAt? =
      if (c.level severity).enabled then some start else none := by
  rw [h.step, startedAt?_raiseBoth]
  by_cases henabled : (c.level severity).enabled = true
  · rw [if_pos henabled, if_pos henabled, h.minds.startedAt?_observe h.anchor severity henabled]
  · rw [if_neg henabled, if_neg henabled, h.minds.timer, if_neg henabled]

/-- The age of the problem is that of the episode. -/
theorem elapsed_eq (h : b.Continues c start block t first again warning) (severity : Severity)
    (henabled : (c.level severity).enabled = true) :
    (b.step.state.alarm severity).window.elapsed b.time = b.time.since start := by
  rw [WindowTimer.elapsed, h.startedAt?_eq, if_pos henabled]

/-- The critical alert is open once the episode has lasted for the window. -/
theorem sent_critical (h : b.Continues c start block t first again warning) :
    b.step.state.critical.sent =
      (c.critical.enabled && (b.before.critical.sent || b.lasts c .critical start)) := by
  rw [h.step, critical_raiseBoth]
  cases henabled : c.critical.enabled with
  | false => simp [h.minds.critical, henabled]
  | true =>
      rw [if_pos rfl, Alarm.sent_see, h.raises_critical henabled]
      cases b.before.critical.sent <;> simp

/-- When a critical alert is sent. -/
theorem alertsCritical_eq (h : b.Continues c start block t first again warning) :
    b.before.alertsCritical c t b.time =
      (c.critical.enabled &&
        if b.before.critical.sent then c.repeats && b.before.repeatGate.isOpen b.time
        else b.lasts c .critical start) := by
  rw [MetricState.alertsCritical]
  cases henabled : c.critical.enabled with
  | false => rfl
  | true =>
      rw [MetricState.sendsCritical, h.raises_critical henabled]
      cases b.before.critical.sent <;> rfl

/-- The critical alert stays open when it is sent. -/
theorem sent_critical_of_alerts (h : b.Continues c start block t first again warning)
    (halerts : b.before.alertsCritical c t b.time = true) :
    b.step.state.critical.sent = true := by
  rw [h.alertsCritical_eq, Bool.and_eq_true] at halerts
  rw [h.sent_critical, halerts.1]
  cases hsent : b.before.critical.sent <;> simp_all

/-- When a warning is sent. -/
def alertsWarning (b : Beat) (c : MetricConfig) (start : Instant) : Bool :=
  c.warning.enabled && (!b.before.warning.sent && b.lasts c .warning start &&
    !b.step.state.critical.sent)

/-- **Which events are found** at the beat, with the age of the episode. -/
theorem events_eq (h : b.Continues c start block t first again warning) :
    b.step.events =
      (if b.before.alertsCritical c t b.time
        then [(if b.before.critical.sent then again else first) (b.time.since start)] else []) ++
      (if alertsWarning b c start then [warning (b.time.since start)] else []) := by
  have hevents := events_raiseBoth c t b.time first again warning b.before
  rw [← h.step] at hevents
  rw [hevents, alertsWarning]
  congr 1
  · cases halerts : b.before.alertsCritical c t b.time with
    | false => rfl
    | true =>
        have hage : b.step.state.critical.window.elapsed b.time = b.time.since start :=
          h.elapsed_eq .critical (Bool.and_eq_true_iff.1 halerts).1
        rw [hage]
  · cases henabled : c.warning.enabled with
    | false => rfl
    | true =>
        have hage : b.step.state.warning.window.elapsed b.time = b.time.since start :=
          h.elapsed_eq .warning henabled
        rw [h.raises_warning henabled, hage]

theorem alerts_critical_iff (h : b.Continues c start block t first again warning) :
    b.Alerts .critical ↔ b.before.alertsCritical c t b.time = true := by
  rw [Alerts, h.events_eq]
  constructor
  · rintro ⟨e, he, hseverity⟩
    rw [List.mem_append, mem_optional, mem_optional] at he
    rcases he with ⟨halerts, -⟩ | ⟨-, rfl⟩
    · exact halerts
    · rw [h.severity_warning] at hseverity
      cases hseverity
  · intro halerts
    refine ⟨_, List.mem_append_left _ (mem_optional.2 ⟨halerts, rfl⟩), ?_⟩
    split
    · exact h.severity_again _
    · exact h.severity_first _

theorem alerts_warning_iff (h : b.Continues c start block t first again warning) :
    b.Alerts .warning ↔ alertsWarning b c start = true := by
  rw [Alerts, h.events_eq]
  constructor
  · rintro ⟨e, he, hseverity⟩
    rw [List.mem_append, mem_optional, mem_optional] at he
    rcases he with ⟨-, rfl⟩ | ⟨halerts, -⟩
    · split at hseverity
      · rw [h.severity_again] at hseverity
        cases hseverity
      · rw [h.severity_first] at hseverity
        cases hseverity
    · exact halerts
  · intro halerts
    exact ⟨_, List.mem_append_right _ (mem_optional.2 ⟨halerts, rfl⟩), h.severity_warning _⟩

/-- An alert is open if it was open before, or is sent. -/
theorem isSent_iff (h : b.Continues c start block t first again warning) {severity : Severity}
    (hseverity : severity = .warning ∨ severity = .critical) :
    b.step.state.isSent severity = true ↔
      b.before.isSent severity = true ∨ b.Alerts severity := by
  rcases hseverity with rfl | rfl
  · rw [h.alerts_warning_iff, alertsWarning]
    have hwarning := warning_raiseBoth c t b.time first again warning b.before
    rw [← h.step] at hwarning
    show b.step.state.warning.sent = true ↔ b.before.warning.sent = true ∨ _
    rw [hwarning]
    cases henabled : c.warning.enabled with
    | false => simp
    | true =>
        rw [if_pos rfl, Alarm.sent_see, h.raises_warning henabled, Bool.or_eq_true, Bool.true_and]
  · rw [h.alerts_critical_iff, h.alertsCritical_eq]
    show b.step.state.critical.sent = true ↔ b.before.critical.sent = true ∨ _
    have henabled : b.before.critical.sent = true → c.critical.enabled = true := by
      rw [h.minds.critical, Bool.and_eq_true]
      exact And.left
    rw [h.sent_critical]
    cases hsent : b.before.critical.sent with
    | false => simp
    | true => simp [henabled hsent]

/-- Nothing but alerts is sent. -/
theorem nothing_else (h : b.Continues c start block t first again warning)
    (hevents : b.step.events ≠ []) : b.Alerts .critical ∨ b.Alerts .warning := by
  rw [h.alerts_critical_iff, h.alerts_warning_iff]
  by_contra hnot
  rw [not_or, Bool.not_eq_true, Bool.not_eq_true] at hnot
  rw [h.events_eq, hnot.1, hnot.2] at hevents
  exact hevents rfl

/-- A warning that is due is open behind the beat, or silenced. -/
theorem silenced (h : b.Continues c start block t first again warning)
    (henabled : c.warning.enabled = true) (hlasts : b.lasts c .warning start = true) :
    b.step.state.warning.sent = true ∨ b.step.state.critical.sent = true := by
  cases hcritical : b.step.state.critical.sent with
  | true => exact Or.inr rfl
  | false =>
      refine Or.inl ((h.isSent_iff (Or.inl rfl)).2 ?_)
      cases hsent : b.before.warning.sent with
      | true => exact Or.inl hsent
      | false =>
          right
          rw [h.alerts_warning_iff, alertsWarning, henabled, hsent, hlasts, hcritical]
          rfl

/-- **The state says how far the episode has come**, with one more beat. -/
theorem minds_concat (h : b.Continues c start block t first again warning) :
    b.step.state.Minds c start (block ++ [b]) where
  cleared := by rw [h.step, clear_raiseBoth, h.minds.cleared]
  timer severity := by rw [anchor?_concat h.start?_eq, h.anchor, h.startedAt?_eq]
  critical := by
    rw [h.sent_critical, h.minds.critical, List.any_append, List.any_cons, List.any_nil,
      Bool.or_false]
    cases c.critical.enabled <;> simp
  warning hsent := by
    rcases (h.isSent_iff (Or.inl rfl)).1 hsent with hsent | halerts
    · obtain ⟨henabled, b', hb', hlasts⟩ := h.minds.warning hsent
      exact ⟨henabled, b', List.mem_append_left _ hb', hlasts⟩
    · rw [h.alerts_warning_iff, alertsWarning] at halerts
      simp only [Bool.and_eq_true] at halerts
      exact ⟨halerts.1, b, by simp, halerts.2.1.2⟩
  silenced henabled b' hb' hlasts := by
    rcases List.mem_append.1 hb' with hb' | hb'
    · refine (h.minds.silenced henabled b' hb' hlasts).imp ?_ ?_
      · exact fun hsent => (h.isSent_iff (Or.inl rfl)).2 (Or.inl hsent)
      · exact fun hsent => (h.isSent_iff (Or.inr rfl)).2 (Or.inl hsent)
    · obtain rfl := List.mem_singleton.1 hb'
      exact h.silenced henabled hlasts
  alerts severity hseverity := by
    rw [h.isSent_iff hseverity, h.minds.alerts severity hseverity]
    simp [or_and_right, exists_or]
  nothing_else b' hb' hevents := by
    rcases List.mem_append.1 hb' with hb' | hb'
    · exact h.minds.nothing_else b' hb' hevents
    · obtain rfl := List.mem_singleton.1 hb'
      exact h.nothing_else hevents

/-- **What is sent at the beat.** -/
theorem raises (h : b.Continues c start block t first again warning) :
    b.Raises c start block first again warning := by
  have hfirst : FirstOf (·.Alerts .critical) block b ↔
      b.before.alertsCritical c t b.time = true ∧ b.before.critical.sent = false := by
    rw [FirstOf, ← h.minds.closed_iff, h.alerts_critical_iff]
  constructor
  case critical_first =>
    rw [hfirst, h.alertsCritical_eq, Bool.and_eq_true, and_assoc]
    refine and_congr_right fun henabled => ?_
    rw [FirstOf, ← h.minds.closed_iff_lasts henabled]
    refine and_congr_left fun hclosed => ?_
    rw [hclosed, if_neg Bool.false_ne_true]
  case critical_event =>
    intro halerts
    obtain ⟨halerts, hclosed⟩ := hfirst.1 halerts
    rw [h.events_eq, halerts, hclosed, alertsWarning, h.sent_critical_of_alerts halerts]
    simp
  case critical_again =>
    intro halerts hearlier
    rw [h.alerts_critical_iff] at halerts
    have hopen : b.before.critical.sent = true := (h.minds.alerts .critical (Or.inr rfl)).2 hearlier
    rw [h.events_eq, halerts, hopen, alertsWarning, h.sent_critical_of_alerts halerts]
    simp
  case warning_iff =>
    rw [← h.minds_concat.closed_iff, h.alerts_warning_iff, alertsWarning]
    simp only [Bool.and_eq_true, Bool.not_eq_true', FirstOf]
    constructor
    · rintro ⟨henabled, ⟨hsent, hlasts⟩, hclosed⟩
      refine ⟨henabled, ⟨hlasts, fun b' hb' hlasts' => ?_⟩, hclosed⟩
      -- a warning that was due before would be open, or silenced by then
      rcases h.minds.silenced henabled b' hb' hlasts' with hopen | hopen
      · rw [hopen] at hsent
        cases hsent
      · have hopen' := (h.isSent_iff (Or.inr rfl)).2 (Or.inl hopen)
        rw [show b.step.state.isSent .critical = b.step.state.critical.sent from rfl,
          hclosed] at hopen'
        cases hopen'
    · rintro ⟨henabled, ⟨hlasts, hfirst⟩, hclosed⟩
      refine ⟨henabled, ⟨?_, hlasts⟩, hclosed⟩
      rw [← Bool.not_eq_true]
      intro hsent
      obtain ⟨-, b', hb', hlasts'⟩ := h.minds.warning hsent
      exact hfirst b' hb' hlasts'
  case warning_event =>
    intro halerts
    rw [h.alerts_warning_iff] at halerts
    have hquiet : b.before.alertsCritical c t b.time = false := by
      rw [← Bool.not_eq_true]
      intro hcritical
      rw [alertsWarning, h.sent_critical_of_alerts hcritical] at halerts
      simp at halerts
    rw [h.events_eq, halerts, hquiet]
    rfl
  case nothing_else => exact h.nothing_else

end Beat.Continues

/-! ## Runs -/

/-- The state of a course says how far its present episode has come; `start` is since when that
goes on, or would if there is none. -/
def Course.Accords (K : Course) (c : MetricConfig) : Prop :=
  ∀ start, (anchor? (episode K.beats)).getD start = start →
    K.state.Minds c start (episode K.beats)

namespace Course.Accords

variable {K : Course} {c : MetricConfig} {x : Sighting} {step : Step}

/-- An episode has one start. -/
theorem exists_start (K : Course) (t : Instant) :
    ∃ start, (anchor? (episode K.beats)).getD t = start ∧
      (anchor? (episode K.beats)).getD start = start := by
  cases h : anchor? (episode K.beats) with
  | none => exact ⟨t, rfl, rfl⟩
  | some start => exact ⟨start, rfl, rfl⟩

/-- A reading that sees the problem continues the episode. -/
theorem continues (h : K.Accords c) (hx : x.reading.Lasting)
    (hstep : x.reading.classify c x.time K.state = .ok step) {t : Instant}
    {first again warning : Span → Event}
    (hnotice : x.reading.notice? x.time = some (.seen t first again warning)) :
    ∃ start, (anchor? (episode K.beats)).getD t = start ∧
      (Beat.mk x K.state step).Continues c start (episode K.beats) t first again warning := by
  obtain ⟨start, hanchor, hstart⟩ := exists_start K t
  refine ⟨start, hanchor, ?_⟩
  rcases hx.classify_cases hstep with ⟨hnone, -⟩ | ⟨_, hgone, -⟩ |
    ⟨_, _, _, _, hseen, hfirst, hagain, hwarning, rfl⟩
  · rw [hnotice] at hnone
    cases hnone
  · rw [hnotice] at hgone
    cases hgone
  · rw [hnotice] at hseen
    cases hseen
    exact ⟨h start hstart, hnotice, hanchor, rfl, hfirst, hagain, hwarning⟩

/-- A reading by which the problem is over leaves nothing behind. -/
theorem state_of_gone (h : K.Accords c) : K.state.clear = .new c := by
  obtain ⟨start, -, hstart⟩ := exists_start K default
  exact (h start hstart).cleared

theorem start (c : MetricConfig) : (Course.start c).Accords c :=
  fun start _ => MetricState.Minds.new c start

/-- **The state keeps saying** how far the episode has come. -/
theorem add (h : K.Accords c) (hx : x.reading.Lasting)
    (hstep : x.reading.classify c x.time K.state = .ok step) : (K.add x step).Accords c := by
  intro start hstart
  have hbeats : (K.add x step).beats = K.beats ++ [⟨x, K.state, step⟩] := rfl
  rw [hbeats] at hstart ⊢
  rcases hx.classify_cases hstep with ⟨hnotice, rfl⟩ | ⟨_, hnotice, -, rfl⟩ |
    ⟨t, _, _, _, hnotice, -⟩
  · rw [episode_concat_of_none (b := ⟨x, K.state, _⟩) hnotice] at hstart ⊢
    exact h start hstart
  · rw [episode_concat_of_gone (b := ⟨x, K.state, _⟩) hnotice, Course.state_add, h.state_of_gone]
    exact .new c start
  · obtain ⟨start', hanchor, hcontinues⟩ := h.continues hx hstep hnotice
    rw [episode_concat_of_start hcontinues.start?_eq] at hstart ⊢
    rw [anchor?_concat hcontinues.start?_eq, hanchor] at hstart
    obtain rfl : start' = start := hstart
    exact hcontinues.minds_concat

/-- **What comes of one more reading.** -/
theorem follows (h : K.Accords c) (hx : x.reading.Lasting)
    (hstep : x.reading.classify c x.time K.state = .ok step) :
    (Beat.mk x K.state step).Follows c K.beats := by
  constructor
  case quiet =>
    intro hnotice
    rcases hx.classify_cases hstep with ⟨-, rfl⟩ | ⟨_, hgone, -⟩ | ⟨_, _, _, _, hseen, -⟩
    · rfl
    · exact absurd (hnotice.symm.trans hgone) nofun
    · exact absurd (hnotice.symm.trans hseen) nofun
  case gone =>
    intro resolution hnotice
    rcases hx.classify_cases hstep with ⟨hnone, -⟩ | ⟨_, hgone, -, rfl⟩ | ⟨_, _, _, _, hseen, -⟩
    · exact absurd (hnotice.symm.trans hnone) nofun
    · cases hnotice.symm.trans hgone
      obtain ⟨start, -, hstart⟩ := exists_start K default
      exact ⟨h.state_of_gone, by rw [← (h start hstart).isClear_eq]⟩
    · exact absurd (hnotice.symm.trans hseen) nofun
  case seen =>
    intro t first again warning hnotice
    obtain ⟨start, hanchor, hcontinues⟩ := h.continues hx hstep hnotice
    refine ⟨start, ?_, hcontinues.raises⟩
    rw [episode_concat_of_start hcontinues.start?_eq, anchor?_concat hcontinues.start?_eq, hanchor]

end Course.Accords

/-- **Episodes in a course**: each reading of a problem that has to last follows the ones before. -/
theorem exists_episodes (c : MetricConfig) {xs : List Sighting}
    (hxs : ∀ x ∈ xs, x.reading.Lasting) :
    ∃ K, c.course xs = .ok K ∧
      ∀ past b later, K.beats = past ++ b :: later → b.Follows c past := by
  have hcovers : ∀ x ∈ xs, c.Covers x := by
    intro x hx hcounts
    have hlasting := hxs x hx
    cases hreading : x.reading <;> simp_all [Reading.Lasting, Reading.counts]
  obtain ⟨K, hK⟩ := MetricConfig.exists_course hcovers
  have haccords : ∀ {ys : List Sighting} {J : Course}, (∀ y ∈ ys, y.reading.Lasting) →
      c.course ys = .ok J → J.Accords c := by
    intro ys J hys hJ
    refine MetricConfig.course_induction (P := fun ys J => (∀ y ∈ ys, y.reading.Lasting) →
      J.Accords c) (fun _ => .start c) ?_ ys hJ hys
    intro ys y J step _ ih hstep hys
    refine (ih fun z hz => hys z (List.mem_append_left _ hz)).add (hys y ?_) hstep
    exact List.mem_append_right _ (List.mem_singleton_self y)
  refine ⟨K, hK, fun past b later hbeats => ?_⟩
  obtain ⟨earlier, others, rfl, hcourse, hclassify⟩ :=
    MetricConfig.exists_course_before hK hbeats
  have hpast := haccords (fun y hy => hxs y (List.mem_append_left _ hy)) hcourse
  exact hpast.follows (hxs b.sighting (by simp)) hclassify

/-- When a node went down, if it is down, at a time. -/
def Sighting.ofDowntime (x : Instant × Option Instant) : Sighting := ⟨x.1, .downtime x.2⟩

/-- A value with the one before it, if there was one, at a time. -/
def Sighting.ofProgress (x : Instant × Float × Option Float) : Sighting :=
  ⟨x.1, .progress x.2.1 x.2.2⟩

/-- **Episodes of downtime**, whenever a node went down and whenever it is looked at.  The first
critical alert of an episode and its warning say that the node went down, later critical alerts that
it is still down, and behind the episode it is up again. -/
theorem episodes_of_downtime (c : MetricConfig) (xs : List (Instant × Option Instant)) :
    ∃ K, c.course (xs.map Sighting.ofDowntime) = .ok K ∧
      ∀ past b later, K.beats = past ++ b :: later → b.Follows c past := by
  refine exists_episodes c fun x hx => ?_
  obtain ⟨y, -, rfl⟩ := List.mem_map.1 hx
  trivial

/-- The node is down since 0, whatever starts are reported later: a warning after ten, a critical
alert after thirty, another one twenty after that, and one event when it is up again. -/
example :
    let c : MetricConfig :=
      ⟨"downtime", "chain_1", true, ⟨true, 0, ⟨10⟩⟩, ⟨true, 0, ⟨30⟩⟩, true, ⟨20⟩, none⟩
    let readings : List (Instant × Option Instant) :=
      [(⟨5⟩, some ⟨0⟩), (⟨10⟩, some ⟨3⟩), (⟨32⟩, some ⟨0⟩), (⟨45⟩, some ⟨0⟩), (⟨52⟩, some ⟨9⟩),
        (⟨60⟩, none), (⟨61⟩, none)]
    (c.course (readings.map Sighting.ofDowntime)).map Course.events =
      .ok [.wentDown .warning ⟨10⟩, .wentDown .critical ⟨32⟩, .stillDown .critical ⟨52⟩,
        .backUp] := by
  rfl

/-- **Episodes of stillness**, whatever the values are and whenever they are read.  All alerts of
an episode tell the value that does not change, and behind the episode it has changed. -/
theorem episodes_of_stillness (c : MetricConfig) (xs : List (Instant × Float × Option Float)) :
    ∃ K, c.course (xs.map Sighting.ofProgress) = .ok K ∧
      ∀ past b later, K.beats = past ++ b :: later → b.Follows c past := by
  refine exists_episodes c fun x hx => ?_
  obtain ⟨y, -, rfl⟩ := List.mem_map.1 hx
  trivial

end NodeAlerts
