import NodeAlerts.Proofs.Idempotence
import NodeAlerts.Proofs.Repeats
import NodeAlerts.Proofs.Volume

/-!
# One raise at a time

A reading with levels may end the alerts of both levels, and then it raises an alert of one of them
at most (`Reading.Restrained`).  So no alert is raised in the call that resolves it, and a warning
is raised only where no critical alert is open behind it (`one_raise_per_call`).

The states are arbitrary: nothing here asks how a metric came to be as it is.  What keeps the events
apart is that an alert is resolved where its threshold is not breached and raised where it is, and
that a critical alert that is sent is open afterwards, and so silences the warning.
-/

namespace NodeAlerts

/-! ## What events do to the alerts of a level -/

namespace Event

/-- The event resolves the alert of a level: it is about that level, or about none of its own and so
about all of them. -/
def Resolves (e : Event) (severity : Severity) : Prop :=
  e.isResolution = true ∧ (e.level? = some severity ∨ e.level? = none)

/-- The event raises the alert of a level. -/
def Raises (e : Event) (severity : Severity) : Prop :=
  e.isResolution = false ∧ e.severity = severity

variable {e : Event} {severity : Severity}

theorem Resolves.not_raises (h : e.Resolves severity) (severity' : Severity) :
    ¬ e.Raises severity' := by
  rintro ⟨hraise, -⟩
  rw [h.1] at hraise
  cases hraise

theorem Clears.resolves (h : e.Clears severity) : e.Resolves severity := ⟨h.2, Or.inl h.1⟩

/-- A cleared threshold is about its own level only. -/
theorem Clears.eq_of_resolves (h : e.Clears severity) {severity' : Severity}
    (h' : e.Resolves severity') : severity = severity' := by
  rcases h'.2 with hlevel | hnone
  · exact Option.some.inj (h.1.symm.trans hlevel)
  · rw [h.1] at hnone
    cases hnone

/-- An event that is more than information raises an alert. -/
theorem raises_of_severity (h : e.severity = severity) (hinfo : severity ≠ .info) :
    e.Raises severity := by
  refine ⟨?_, h⟩
  rw [← Bool.not_eq_true]
  exact fun hresolution => hinfo (h.symm.trans (severity_of_isResolution hresolution))

end Event

/-- What a reading says in one call, where `after` is the state of its metric behind it. -/
structure Reading.Restrained (r : Reading) (events : List Event) (after : Option MetricState) :
    Prop where
  /-- The critical alert is resolved, then the warning, and then an alert is raised, each once at
  most. -/
  order : ∃ critical warning raised : Option Event,
    events = critical.toList ++ warning.toList ++ raised.toList ∧
    (∀ e ∈ critical, e.Resolves .critical) ∧ (∀ e ∈ warning, e.Resolves .warning) ∧
    ∀ e ∈ raised, e.Raises .critical ∨ e.Raises .warning
  /-- A comparison with thresholds says nothing that is about no level. -/
  levels : ¬ r.Lasting → ∀ e ∈ events, e.level? ≠ none
  /-- Of a problem that has to last there is one event at most. -/
  lasting : r.Lasting → events.length ≤ 1
  /-- No alert is resolved and raised. -/
  apart : ∀ severity, (∃ e ∈ events, e.Resolves severity) → ¬ ∃ e ∈ events, e.Raises severity
  /-- A warning is raised only where no critical alert is open afterwards. -/
  silent : (∃ e ∈ events, e.Raises .warning) → ∃ s, after = some s ∧ s.critical.sent = false

/-! ## Comparisons -/

theorem optional_eq_toList (p : Bool) (e : Event) :
    (if p then [e] else []) = (if p then some e else none).toList := by
  cases p <;> rfl

theorem eq_of_mem_optional {p : Bool} {e e' : Event} (h : e ∈ if p then some e' else none) :
    e = e' := by
  cases p with
  | false => cases h
  | true => exact (Option.some.inj h).symm

namespace Measure

variable {m : Measure} {c : MetricConfig} {d : Direction} {now : Instant} {s : MetricState}
  {e : Event} {severity : Severity}

theorem resolves_cleared (m : Measure) (c : MetricConfig) (d : Direction) (severity : Severity) :
    (m.cleared c d severity).Resolves severity :=
  (m.clears_cleared c d severity).resolves

theorem raises_breached (m : Measure) (c : MetricConfig) (d : Direction) (severity : Severity)
    (age : Span) : (m.breached c d severity age).Raises severity :=
  ⟨(m.breaches_breached c d severity age).2, m.severity_breached c d severity age⟩

/-- An alert is resolved where its threshold is not breached. -/
theorem breaches_of_resolves (he : e ∈ (m.classify c d now s).events)
    (h : e.Resolves severity) : m.breaches c d severity = false := by
  rcases mem_events_iff.1 he with ⟨hclears, rfl⟩ | ⟨hclears, rfl⟩ | ⟨-, rfl⟩ | ⟨-, rfl⟩
  · rw [← (m.clears_cleared c d .critical).eq_of_resolves h, ← Bool.not_eq_true']
    exact (Bool.and_eq_true_iff.1 hclears).2
  · rw [← (m.clears_cleared c d .warning).eq_of_resolves h, ← Bool.not_eq_true']
    exact (Bool.and_eq_true_iff.1 hclears).2
  · exact absurd (m.raises_breached ..) (h.not_raises _)
  · exact absurd (m.raises_breached ..) (h.not_raises _)

/-- An alert is raised where its threshold is breached. -/
theorem breaches_of_raises (he : e ∈ (m.classify c d now s).events) (h : e.Raises severity) :
    m.breaches c d severity = true := by
  rcases mem_events_iff.1 he with ⟨-, rfl⟩ | ⟨-, rfl⟩ | ⟨halerts, rfl⟩ | ⟨halerts, rfl⟩
  · exact absurd h ((m.resolves_cleared ..).not_raises _)
  · exact absurd h ((m.resolves_cleared ..).not_raises _)
  · rw [← h.2, severity_breached]
    exact (Bool.and_eq_true_iff.1 (Bool.and_eq_true_iff.1 halerts).1).2
  · rw [← h.2, severity_breached]
    exact (Bool.and_eq_true_iff.1 (Bool.and_eq_true_iff.1 halerts).1).2

/-- Every event is about a level. -/
theorem level?_ne_none (he : e ∈ (m.classify c d now s).events) : e.level? ≠ none := by
  have hsome : ∀ severity, e.level? = some severity → e.level? ≠ none := by
    intro severity hlevel
    rw [hlevel]
    exact nofun
  rcases mem_events_iff.1 he with ⟨-, rfl⟩ | ⟨-, rfl⟩ | ⟨-, rfl⟩ | ⟨-, rfl⟩
  · exact hsome _ (m.clears_cleared ..).1
  · exact hsome _ (m.clears_cleared ..).1
  · exact hsome _ (m.breaches_breached ..).1
  · exact hsome _ (m.breaches_breached ..).1

/-- Where a warning is sent no critical alert is open. -/
theorem closed_of_alertsWarning (h : m.alertsWarning c d now s = true) :
    (m.classify c d now s).state.critical.sent = false := by
  rw [← Bool.not_eq_true']
  exact (Bool.and_eq_true_iff.1 (Bool.and_eq_true_iff.1 h).2).2

/-- A critical alert that is sent silences the warning. -/
theorem alertsWarning_of_alertsCritical (h : m.alertsCritical c d now s = true) :
    m.alertsWarning c d now s = false := by
  rw [← Bool.not_eq_true]
  intro hwarning
  have hclosed := closed_of_alertsWarning hwarning
  rw [sent_critical_classify, h] at hclosed
  cases hclosed

variable (m c d now s) in
/-- **The order of the events** of a comparison. -/
theorem order_events : ∃ critical warning raised : Option Event,
    (m.classify c d now s).events = critical.toList ++ warning.toList ++ raised.toList ∧
    (∀ e ∈ critical, e.Resolves .critical) ∧ (∀ e ∈ warning, e.Resolves .warning) ∧
    ∀ e ∈ raised, e.Raises .critical ∨ e.Raises .warning := by
  rw [events_classify, optional_eq_toList, optional_eq_toList]
  cases halerts : m.alertsCritical c d now s with
  | true =>
      rw [alertsWarning_of_alertsCritical halerts, if_pos rfl, if_neg Bool.false_ne_true,
        List.append_nil]
      refine ⟨_, _, some _, rfl, fun e he => ?_, fun e he => ?_, fun e he => ?_⟩
      · rw [eq_of_mem_optional he]
        exact m.resolves_cleared ..
      · rw [eq_of_mem_optional he]
        exact m.resolves_cleared ..
      · rw [← Option.some.inj he]
        exact Or.inl (m.raises_breached ..)
  | false =>
      rw [if_neg Bool.false_ne_true, List.append_nil, optional_eq_toList]
      refine ⟨_, _, _, rfl, fun e he => ?_, fun e he => ?_, fun e he => ?_⟩
      · rw [eq_of_mem_optional he]
        exact m.resolves_cleared ..
      · rw [eq_of_mem_optional he]
        exact m.resolves_cleared ..
      · rw [eq_of_mem_optional he]
        exact Or.inr (m.raises_breached ..)

end Measure

namespace Reading

variable {r : Reading} {c : MetricConfig} {now : Instant} {s : MetricState} {step : Step}

/-- **A comparison is restrained.** -/
theorem restrained_of_reads {k : Comparison} (hr : k.Reads r) (hlasting : ¬ r.Lasting)
    (h : r.classify c now s = .ok step) : r.Restrained step.events (some step.state) := by
  obtain ⟨m, warning, critical, -, rfl, -⟩ := hr.classify_eq h
  exact {
    order := m.order_events ..
    levels := fun _ e he => Measure.level?_ne_none he
    lasting := fun h => absurd h hlasting
    apart := by
      rintro severity ⟨e, he, hresolves⟩ ⟨e', he', hraises⟩
      have hbelow := Measure.breaches_of_resolves he hresolves
      rw [Measure.breaches_of_raises he' hraises] at hbelow
      cases hbelow
    silent := by
      rintro ⟨e, he, hraises⟩
      have halerts := (Measure.mem_events_warning_iff.1 ⟨he, hraises.2⟩).1
      exact ⟨_, rfl, Measure.closed_of_alertsWarning halerts⟩ }

/-! ## Problems that have to last -/

/-- What an event about a problem that has to last does: it resolves all alerts or raises one, a
warning only where no critical alert is open. -/
def Speaks (e : Event) (after : MetricState) : Prop :=
  e.Resolves .critical ∨ e.Raises .critical ∨ e.Raises .warning ∧ after.critical.sent = false

theorem Lasting.length_events_le (hr : r.Lasting) (h : r.classify c now s = .ok step) :
    step.events.length ≤ 1 := by
  have hle := Reading.length_events_le h
  cases r with
  | progress current previous => exact hle
  | downtime wentDownAt => exact hle
  | _ => cases hr

/-- A problem that is over is over at all levels. -/
theorem level?_of_gone {resolution : Event} (h : r.notice? now = some (.gone resolution)) :
    resolution.level? = none := by
  cases r with
  | downtime wentDownAt =>
      cases wentDownAt with
      | none => cases h; rfl
      | some start => cases h
  | progress current previous =>
      cases previous with
      | none => cases h
      | some previous =>
          rw [notice?] at h
          by_cases hsame : (current == previous) = true
          · rw [if_pos hsame] at h
            cases h
          · rw [if_neg hsame] at h
            cases h
            rfl
  | _ => cases h

theorem Lasting.speaks (hr : r.Lasting) (h : r.classify c now s = .ok step) :
    ∀ e ∈ step.events, Speaks e step.state := by
  intro e he
  rcases hr.classify_cases h with ⟨-, rfl⟩ | ⟨resolution, hnotice, hresolution, rfl⟩ |
    ⟨start, first, again, warning, -, hfirst, hagain, hwarning, rfl⟩
  · cases he
  · have hmem : e ∈ if s.isClear then [] else [resolution] := he
    cases hclear : s.isClear with
    | true =>
        rw [hclear] at hmem
        cases hmem
    | false =>
        rw [hclear] at hmem
        rw [List.mem_singleton.1 hmem]
        exact Or.inl ⟨hresolution, Or.inr (level?_of_gone hnotice)⟩
  · rw [events_raiseBoth, List.mem_append, mem_optional, mem_optional] at he
    rcases he with ⟨-, rfl⟩ | ⟨hwarns, rfl⟩
    · refine Or.inr (Or.inl (Event.raises_of_severity ?_ nofun))
      split
      · exact hagain _
      · exact hfirst _
    · rw [Bool.and_eq_true, Bool.and_eq_true, Bool.not_eq_true'] at hwarns
      exact Or.inr (Or.inr ⟨Event.raises_of_severity (hwarning _) nofun, hwarns.2.2⟩)

/-- **What is said of a problem that has to last is restrained**: it is one event at most. -/
theorem Lasting.restrained (hr : r.Lasting) (h : r.classify c now s = .ok step) :
    r.Restrained step.events (some step.state) where
  order := by
    have hspeaks := hr.speaks h
    match hevents : step.events, hr.length_events_le h with
    | [], _ => exact ⟨none, none, none, rfl, nofun, nofun, nofun⟩
    | [e], _ =>
        rw [hevents] at hspeaks
        have hsame : ∀ x ∈ some e, x = e := fun x hx => (Option.some.inj hx).symm
        rcases hspeaks e List.mem_cons_self with hresolves | hraises | ⟨hraises, -⟩
        · exact ⟨some e, none, none, rfl, fun x hx => hsame x hx ▸ hresolves, nofun, nofun⟩
        · exact ⟨none, none, some e, rfl, nofun, nofun, fun x hx => hsame x hx ▸ Or.inl hraises⟩
        · exact ⟨none, none, some e, rfl, nofun, nofun, fun x hx => hsame x hx ▸ Or.inr hraises⟩
  levels := fun hlasting => absurd hr hlasting
  lasting := fun _ => hr.length_events_le h
  apart := by
    rintro severity ⟨e, he, hresolves⟩ ⟨e', he', hraises⟩
    have hsame : e = e' := by
      match hevents : step.events, hr.length_events_le h with
      | [], _ =>
          rw [hevents] at he
          cases he
      | [x], _ =>
          rw [hevents] at he he'
          rw [List.mem_singleton.1 he, List.mem_singleton.1 he']
    rw [hsame] at hresolves
    exact hresolves.not_raises severity hraises
  silent := by
    rintro ⟨e, he, hraises⟩
    refine ⟨_, rfl, ?_⟩
    rcases hr.speaks h e he with hresolves | hcritical | ⟨-, hclosed⟩
    · exact absurd hraises (hresolves.not_raises _)
    · cases hcritical.2.symm.trans hraises.2
    · exact hclosed

/-- **Every reading with levels is restrained.** -/
theorem Levelled.restrained (hr : r.Levelled) (h : r.classify c now s = .ok step) :
    r.Restrained step.events (some step.state) := by
  cases r with
  | gauge value direction windowed =>
      exact restrained_of_reads (k := .value direction windowed) ⟨rfl, rfl⟩ id h
  | counter current previous => exact restrained_of_reads (k := .occurrences) trivial id h
  | progress current previous =>
      exact Lasting.restrained (r := .progress current previous) trivial h
  | downtime wentDownAt => exact Lasting.restrained (r := .downtime wentDownAt) trivial h
  | _ => cases hr

/-- Nothing is said of a metric that is not looked at. -/
theorem restrained_nil (r : Reading) (after : Option MetricState) : r.Restrained [] after where
  order := ⟨none, none, none, rfl, nofun, nofun, nofun⟩
  levels := fun _ _ he => nomatch he
  lasting := fun _ => Nat.zero_le 1
  apart := by
    rintro severity ⟨e, he, -⟩
    cases he
  silent := by
    rintro ⟨e, he, -⟩
    cases he

end Reading

/-- **One raise at a time.**  Whatever the configuration, the state of the metric and the time are:
a reading with levels that is classified resolves the critical alert at most once, then the warning
at most once, and then raises one alert at most; no alert is resolved and raised, and a warning is
raised only where no critical alert is open afterwards.  This holds for the rule, and for the
reading of a node, whether its metric is configured, enabled and has a state or not. -/
theorem one_raise_per_call {r : Reading} (hr : r.Levelled) :
    (∀ c now s step, r.classify c now s = .ok step →
      r.Restrained step.events (some step.state)) ∧
    ∀ (M : Type) [DecidableEq M] (f : Family M) config origin now (node : NodeState M) m b,
      f.classifyOne config origin now node m r = .ok b →
        r.Restrained (b.findings.map (·.event)) (b.node.get? m) := by
  refine ⟨fun c now s step h => hr.restrained h, fun M _ f config origin now node m b h => ?_⟩
  rcases Family.classifyOne_cases h with
    ⟨-, rfl⟩ | ⟨c, -, -, rfl⟩ | ⟨c, s, step, -, hs, hstep, rfl⟩
  · exact r.restrained_nil _
  · exact r.restrained_nil _
  · have hevents : (step.events.map (Finding.mk origin now m)).map (·.event) = step.events := by
      rw [List.map_map]
      exact List.map_id step.events
    have hafter : (node.set m step.state).get? m = some step.state := by
      rw [NodeState.get?_set, if_pos rfl, hs]
      rfl
    rw [hevents, hafter]
    exact hr.restrained hstep

/-- A critical alert that is resolved leaves a warning, which is raised in the same call. -/
theorem one_raise_per_call_again : (Reading.gauge 5 .above false).Levelled ∧
    ∃ step, (Reading.gauge 5 .above false).classify repeatedLevels ⟨120000000⟩ openForMinutes =
        .ok step ∧ step.events.map Event.isResolution = [true, false] ∧
      (Reading.gauge 5 .above false).Restrained step.events (some step.state) := by
  have hlevels : (Reading.gauge 5 .above false).Levelled := trivial
  exact ⟨hlevels, _, rfl, by decide +kernel, (one_raise_per_call hlevels).1 _ _ _ _ rfl⟩

end NodeAlerts
